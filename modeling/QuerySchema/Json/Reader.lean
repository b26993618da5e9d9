import QuerySchema.Decimal.Literal
import QuerySchema.Json.Value
import QuerySchema.Text.Hex
import QuerySchema.Text.Position

/-!
Reading JSON text.

Beyond the standard the reader accepts the three words for numbers that are not finite; a strict
reading refuses them. A number with a fraction or an exponent is a binary64 number, any other is an integer of at most 4300
digits. When an object repeats a name, the last value counts and the first place. The first fault
in the text is reported with its place.
-/

namespace QuerySchema.Json

open Decimal Text

/-- What is wrong with a text that is not JSON. -/
inductive Problem where
  | byteOrderMark
  | expectingValue
  | expectingName
  | expectingColon
  | expectingComma
  | extraData
  | unterminatedString
  | controlCharacter
  | badEscape
  | badUnicodeEscape
  deriving DecidableEq, Repr

/-- The wording of a problem. -/
def Problem.message : Problem → String
  | .byteOrderMark => "Unexpected UTF-8 BOM (decode using utf-8-sig)"
  | .expectingValue => "Expecting value"
  | .expectingName => "Expecting property name enclosed in double quotes"
  | .expectingColon => "Expecting ':' delimiter"
  | .expectingComma => "Expecting ',' delimiter"
  | .extraData => "Extra data"
  | .unterminatedString => "Unterminated string starting at"
  | .controlCharacter => "Invalid control character at"
  | .badEscape => "Invalid \\escape"
  | .badUnicodeEscape => "Invalid \\uXXXX escape"

/-- Why a text is refused. -/
inductive ReadError where
  /-- The text is not JSON. -/
  | malformed (problem : Problem) (position : Position)
  /-- An integer has more digits than the limit allows. -/
  | tooManyDigits (count : Nat)
  deriving DecidableEq, Repr

/-- What is said about a refused text. -/
def ReadError.message : ReadError → String
  | .malformed problem p =>
    problem.message ++ ": line " ++ toString p.line ++ " column " ++ toString p.column ++
      " (char " ++ toString p.offset ++ ")"
  | .tooManyDigits count => (LiteralError.tooManyDigits count).message

/-- A fault while reading. The place of a problem is given by the characters left from there. -/
inductive Fault where
  | malformed (problem : Problem) (left : Nat)
  | tooManyDigits (count : Nat)

/-- What a reading step yields: a value and the text behind it. -/
abbrev Reading (α : Type) := Except Fault (α × List Char)

/-- A problem at the head of the given text. -/
def problemAt {α : Type} (problem : Problem) (cs : List Char) : Except Fault α :=
  .error (.malformed problem cs.length)

/-- The characters between tokens. -/
def isSpace (c : Char) : Bool := c == ' ' || c == '\t' || c == '\n' || c == '\r'

/-- The text behind leading space. -/
def skipSpace (cs : List Char) : List Char := cs.dropWhile isSpace

/-- The character of a short escape. -/
def shortEscape? : Char → Option Char
  | '"' => some '"'
  | '\\' => some '\\'
  | '/' => some '/'
  | 'b' => some '\x08'
  | 'f' => some '\x0c'
  | 'n' => some '\n'
  | 'r' => some '\r'
  | 't' => some '\t'
  | _ => none

/-- The character of a unit; half of a pair that stands alone becomes the replacement character. -/
def unitChar (n : Nat) : Char :=
  if isFirstHalf n || isSecondHalf n then '\uFFFD' else Char.ofNat n

/-- Puts a character in front of the text that a step yields. -/
def consChar (c : Char) : Reading (List Char) → Reading (List Char)
  | .ok (cs, rest) => .ok (c :: cs, rest)
  | .error e => .error e

/-- The second half of a pair, when a first half is followed by one. An escape that is not made of
four digits is a problem; it is given by the characters left from its letter on. -/
def secondHalf? (first : Nat) : List Char → Except Nat (Option Nat)
  | '\\' :: 'u' :: a :: b :: c :: d :: _ :: rest =>
    if isFirstHalf first then
      match unit? a b c d with
      | none => .error (rest.length + 6)
      | some second => .ok (if isSecondHalf second then some second else none)
    else .ok none
  | _ => .ok none

/-- The text of a string behind its opening quote, where `opened` characters were left. An escape
of four digits needs a character behind it, since the string has to be closed. -/
def readString (opened : Nat) : List Char → Reading (List Char)
  | [] => .error (.malformed .unterminatedString opened)
  | '"' :: rest => .ok ([], rest)
  | ['\\'] => .error (.malformed .unterminatedString opened)
  | '\\' :: 'u' :: a :: b :: c :: d :: next :: rest =>
    match unit? a b c d with
    | none => .error (.malformed .badUnicodeEscape (rest.length + 6))
    | some first =>
      match secondHalf? first (next :: rest) with
      | .error left => .error (.malformed .badUnicodeEscape left)
      | .ok (some second) =>
        consChar (pairChar first second) (readString opened (rest.drop 5))
      | .ok none => consChar (unitChar first) (readString opened (next :: rest))
  | '\\' :: 'u' :: rest => .error (.malformed .badUnicodeEscape (rest.length + 1))
  | '\\' :: c :: rest =>
    match shortEscape? c with
    | some plain => consChar plain (readString opened rest)
    | none => .error (.malformed .badEscape (rest.length + 2))
  | c :: rest =>
    if c.toNat < 0x20 then .error (.malformed .controlCharacter (rest.length + 1))
    else consChar c (readString opened rest)
termination_by cs => cs.length
decreasing_by all_goals (simp only [List.length_cons, List.length_drop]; omega)

/-- The digits at the start of a text; a zero that leads them stands alone. -/
def takeWhole : List Char → List Char
  | '0' :: _ => ['0']
  | cs => cs.takeWhile isDigit

/-- The longest start of a text that is a fraction: a point and at least one digit. -/
def takeFraction : List Char → List Char
  | '.' :: rest =>
    let digits := rest.takeWhile isDigit
    if digits.isEmpty then [] else '.' :: digits
  | _ => []

/-- The longest start of a text that is an exponent: a mark, an optional sign, a digit or more. -/
def takeExponent : List Char → List Char
  | mark :: rest =>
    if mark == 'e' || mark == 'E' then
      let sign := match rest with
        | '+' :: _ => ['+']
        | '-' :: _ => ['-']
        | _ => []
      let digits := (rest.drop sign.length).takeWhile isDigit
      if digits.isEmpty then [] else mark :: (sign ++ digits)
    else []
  | [] => []

/-- A number behind its sign: a digit zero or digits that do not start with zero, then the longest
fraction and the longest exponent. `start` is the text from the sign on. -/
def readNumeral (start : List Char) (negative : Bool) (cs : List Char) : Reading Json :=
  let whole := takeWhole cs
  let afterWhole := cs.drop whole.length
  let fraction := takeFraction afterWhole
  let afterFraction := afterWhole.drop fraction.length
  let exponent := takeExponent afterFraction
  let rest := afterFraction.drop exponent.length
  if whole.isEmpty then problemAt .expectingValue start
  else if fraction.isEmpty && exponent.isEmpty then
    if digitLimit < whole.length then .error (.tooManyDigits whole.length)
    else .ok (.int (if negative then -(digitsValue whole : Int) else digitsValue whole), rest)
  else match readDecimal (whole ++ fraction ++ exponent) with
    | some d => .ok (.float (.ofScientific negative d), rest)
    | none => problemAt .expectingValue start

/-- The words that are values by the standard. -/
def standardWords : List (List Char × Json) :=
  [("null".toList, .null), ("true".toList, .bool true), ("false".toList, .bool false)]

/-- The words that are values. -/
def words : List (List Char × Json) :=
  standardWords ++ [("NaN".toList, .float .nan), ("Infinity".toList, .float (.infinite false)),
    ("-Infinity".toList, .float (.infinite true))]

/-- A word that is known or a number. -/
def readAtom (known : List (List Char × Json)) (cs : List Char) : Reading Json :=
  match known.find? fun w => w.1.isPrefixOf cs with
  | some (word, value) => .ok (value, cs.drop word.length)
  | none =>
    match cs with
    | '-' :: rest => readNumeral cs true rest
    | _ => readNumeral cs false cs

mutual
/-- A value at the head of the text. Each nested value and each further item uses up one step of
the budget; the length of the text is always enough. -/
def readValue (known : List (List Char × Json)) : (budget : Nat) → List Char → Reading Json
  | 0, cs => problemAt .expectingValue cs
  | budget + 1, cs =>
    match cs with
    | '"' :: rest =>
      match readString cs.length rest with
      | .ok (text, rest) => .ok (.string (String.ofList text), rest)
      | .error e => .error e
    | '[' :: rest =>
      let inner := skipSpace rest
      match inner with
      | ']' :: rest => .ok (.array [], rest)
      | _ =>
        match readItems known budget inner with
        | .ok (items, rest) => .ok (.array items, rest)
        | .error e => .error e
    | '\x7b' :: rest =>
      let inner := skipSpace rest
      match inner with
      | '\x7d' :: rest => .ok (.object [], rest)
      | _ =>
        match readMembers known budget inner with
        | .ok (members, rest) => .ok (.object (Keyed.ofPairs members), rest)
        | .error e => .error e
    | _ => readAtom known cs
/-- The items of an array up to its closing bracket. -/
def readItems (known : List (List Char × Json)) :
    (budget : Nat) → List Char → Reading (List Json)
  | 0, cs => problemAt .expectingValue cs
  | budget + 1, cs =>
    match readValue known budget cs with
    | .error e => .error e
    | .ok (item, rest) =>
      match skipSpace rest with
      | ']' :: rest => .ok ([item], rest)
      | ',' :: rest =>
        match readItems known budget (skipSpace rest) with
        | .ok (items, rest) => .ok (item :: items, rest)
        | .error e => .error e
      | other => problemAt .expectingComma other
/-- The members of an object up to its closing brace. -/
def readMembers (known : List (List Char × Json)) :
    (budget : Nat) → List Char → Reading (List (String × Json))
  | 0, cs => problemAt .expectingName cs
  | budget + 1, cs =>
    match cs with
    | '"' :: rest =>
      match readString cs.length rest with
      | .error e => .error e
      | .ok (name, rest) =>
        match skipSpace rest with
        | ':' :: rest =>
          match readValue known budget (skipSpace rest) with
          | .error e => .error e
          | .ok (value, rest) =>
            match skipSpace rest with
            | '\x7d' :: rest => .ok ([(String.ofList name, value)], rest)
            | ',' :: rest =>
              match readMembers known budget (skipSpace rest) with
              | .ok (members, rest) => .ok ((String.ofList name, value) :: members, rest)
              | .error e => .error e
            | other => problemAt .expectingComma other
        | other => problemAt .expectingColon other
    | _ => problemAt .expectingName cs
end

/-- The value of a whole text: space, a value, space. -/
def readDocument (known : List (List Char × Json)) (cs : List Char) : Except Fault Json :=
  match cs with
  | '\uFEFF' :: _ => problemAt .byteOrderMark cs
  | _ =>
    match readValue known (2 * cs.length + 2) (skipSpace cs) with
    | .error e => .error e
    | .ok (value, rest) =>
      match skipSpace rest with
      | [] => .ok value
      | other => problemAt .extraData other

/-- Reads a JSON text in which the given words are values. -/
def readWith (known : List (List Char × Json)) (text : String) : Except ReadError Json :=
  let cs := text.toList
  match readDocument known cs with
  | .ok value => .ok value
  | .error (.malformed problem left) =>
    .error (.malformed problem (Position.at cs (cs.length - left)))
  | .error (.tooManyDigits count) => .error (.tooManyDigits count)

/-- Reads a JSON text. -/
def read (text : String) : Except ReadError Json := readWith words text

/-- Reads a JSON text that keeps to the standard: it has no words for numbers that are not finite. -/
def readStrict (text : String) : Except ReadError Json := readWith standardWords text

end QuerySchema.Json
