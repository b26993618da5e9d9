import QuerySchema.GraphQL.Token
import QuerySchema.Text.Hex

/-!
The tokens of a GraphQL text.

`Tokens.ofText` yields the tokens in order. The sequence ends with the token for the end of the
input, or with the refusal of the first place that starts no token; nothing after that place is
looked at. Blanks, commas, byte order marks, line ends and comments only separate tokens.
-/

namespace QuerySchema.GraphQL

open Text

/-- A sequence of tokens. -/
inductive Tokens where
  /-- The end of the input. -/
  | last (token : Token)
  | more (token : Token) (rest : Tokens)
  /-- The text cannot be read on from here. -/
  | refused (error : SyntaxError)
  deriving Repr

namespace Place

/-- The place after some characters of the same line. -/
def right (p : Place) (n : Nat) : Place := ⟨p.line, p.column + n⟩

/-- The start of the next line. -/
def nextLine (p : Place) : Place := ⟨p.line + 1, 1⟩

/-- The place after a piece of text. A line ends at a line feed, a carriage return, or both. -/
def after (p : Place) : List Char → Place
  | [] => p
  | '\r' :: '\n' :: rest => after p.nextLine rest
  | '\r' :: rest => after p.nextLine rest
  | '\n' :: rest => after p.nextLine rest
  | _ :: rest => after (p.right 1) rest

end Place

namespace Lexing

/-- What a step of reading yields. -/
abbrev Step (α : Type) := Except SyntaxError α

/-- A refusal at a place. -/
def refuse {α : Type} (cause : SyntaxError.Cause) (place : Place) : Step α := .error ⟨cause, place⟩

/-- The characters that only separate tokens, line ends apart. -/
def isSeparator (c : Char) : Bool := c == ' ' || c == '\t' || c == ',' || c == '\uFEFF'

/-- The characters that start a name. -/
def isNameStart (c : Char) : Bool := c.isAlpha || c == '_'

/-- The characters that continue a name. -/
def isNamePart (c : Char) : Bool := isNameStart c || c.isDigit

/-- Skips what only separates tokens. A comment runs to the end of its line. -/
def skipIgnored : (inComment : Bool) → Place → List Char → Place × List Char
  | _, p, [] => (p, [])
  | _, p, '\r' :: '\n' :: rest => skipIgnored false p.nextLine rest
  | _, p, '\r' :: rest => skipIgnored false p.nextLine rest
  | _, p, '\n' :: rest => skipIgnored false p.nextLine rest
  | true, p, _ :: rest => skipIgnored true (p.right 1) rest
  | false, p, c :: rest =>
    if isSeparator c then skipIgnored false (p.right 1) rest
    else if c = '#' then skipIgnored true (p.right 1) rest
    else (p, c :: rest)

/-! ## Numbers -/

/-- One digit or more. -/
def digits (p : Place) (cs : List Char) : Step (List Char) :=
  let found := cs.takeWhile Char.isDigit
  if found.isEmpty then refuse (.expectedDigit cs.head?) p else .ok found

/-- The integer part of a number: a zero alone, or digits that do not start with one. -/
def wholePart (p : Place) (cs : List Char) : Step (List Char) :=
  match cs with
  | '0' :: c :: _ => if c.isDigit then refuse (.digitAfterZero (some c)) (p.right 1) else .ok ['0']
  | _ => digits p cs

/-- The fraction of a number, if it has one. -/
def fractionPart (p : Place) (cs : List Char) : Step (List Char) :=
  match cs with
  | '.' :: rest => (digits (p.right 1) rest).map ('.' :: ·)
  | _ => .ok []

/-- The exponent of a number, if it has one. -/
def exponentPart (p : Place) (cs : List Char) : Step (List Char) :=
  match cs with
  | mark :: rest =>
    if mark == 'e' || mark == 'E' then
      match rest with
      | sign :: more =>
        if sign == '+' || sign == '-' then
          (digits (p.right 2) more).map fun found => mark :: sign :: found
        else (digits (p.right 1) rest).map (mark :: ·)
      | [] => (digits (p.right 1) rest).map (mark :: ·)
    else .ok []
  | [] => .ok []

/-- A number, with the text behind it. It may not touch a name or a point. -/
def number (p : Place) (cs : List Char) : Step (Lexeme × List Char) := do
  let sign := match cs with
    | '-' :: _ => ['-']
    | _ => []
  let cs := cs.drop sign.length
  let p := p.right sign.length
  let whole ← wholePart p cs
  let cs := cs.drop whole.length
  let p := p.right whole.length
  let fraction ← fractionPart p cs
  let cs := cs.drop fraction.length
  let p := p.right fraction.length
  let exponent ← exponentPart p cs
  let cs := cs.drop exponent.length
  let p := p.right exponent.length
  let text := String.ofList (sign ++ whole ++ fraction ++ exponent)
  let touches := match cs with
    | c :: _ => c == '.' || isNameStart c
    | [] => false
  if touches then refuse (.expectedDigit cs.head?) p
  else if fraction.isEmpty && exponent.isEmpty then return (.int text, cs)
  else return (.float text, cs)

/-! ## Strings -/

/-- The character of a short escape. -/
def shortEscape? : Char → Option Char
  | '"' => some '"'
  | '\\' => some '\\'
  | '/' => some '/'
  | 'b' => some '\x08'
  | 'f' => some '\x0c'
  | 'n' => some '\n'
  | 'r' => some '\r'
  | 't' => some '\t'
  | _ => none

/-- The digits of an escape in braces, behind its opening brace: `size` characters of the escape
have been read and at most `room` more may be. Either the number and the size of the escape, or the
size of the text that is refused. -/
def bracedPoint : (room size point : Nat) → List Char → Except Nat (Nat × Nat)
  | 0, size, _, _ => .error size
  | _ + 1, size, _, [] => .error size
  | room + 1, size, point, c :: rest =>
    if c = '\x7d' then
      if 5 ≤ size + 1 ∧ point.isValidChar then .ok (point, size + 1) else .error (size + 1)
    else match hexValue? c with
      | some value => bracedPoint room (size + 1) (point * 16 + value) rest
      | none => .error (size + 1)

/-- The character of an escape with four digits, or of a pair of them, and the size of the escape.
The text is what follows the letter of the escape. -/
def fixedPoint? : List Char → Option (Char × Nat)
  | a :: b :: c :: d :: rest => do
    let first ← unit? a b c d
    if isFirstHalf first then
      match rest with
      | '\\' :: 'u' :: e :: f :: g :: h :: _ =>
        let second ← unit? e f g h
        if isSecondHalf second then some (pairChar first second, 12) else none
      | _ => none
    else if isSecondHalf first then none
    else some (Char.ofNat first, 6)
  | _ => none

/-- The character of the escape at the head of a text, and the size of the escape. -/
def escape (cs : List Char) : Except SyntaxError.Cause (Char × Nat) :=
  match cs with
  | '\\' :: 'u' :: '\x7b' :: rest =>
    match bracedPoint 9 3 0 rest with
    | .ok (point, size) => .ok (Char.ofNat point, size)
    | .error size => .error (.badUnicodeEscape (String.ofList (cs.take size)))
  | '\\' :: 'u' :: rest =>
    match fixedPoint? rest with
    | some found => .ok found
    | none => .error (.badUnicodeEscape (String.ofList (cs.take 6)))
  | '\\' :: c :: _ =>
    match shortEscape? c with
    | some plain => .ok (plain, 2)
    | none => .error (.badEscape (String.ofList (cs.take 2)))
  | _ => .error (.badEscape (String.ofList cs))

/-- The value of a string behind its opening quote, with the text behind its closing quote and the
place there. -/
def stringBody (p : Place) (cs : List Char) : Step (List Char × Place × List Char) :=
  match cs with
  | [] => refuse .unterminatedString p
  | '"' :: rest => .ok ([], p.right 1, rest)
  | '\n' :: _ => refuse .unterminatedString p
  | '\r' :: _ => refuse .unterminatedString p
  | '\\' :: rest =>
    match escape ('\\' :: rest) with
    | .error cause => refuse cause p
    | .ok (c, size) =>
      (stringBody (p.right size) (rest.drop (size - 1))).map fun found => (c :: found.1, found.2)
  | c :: rest => (stringBody (p.right 1) rest).map fun found => (c :: found.1, found.2)
termination_by cs.length
decreasing_by all_goals (simp only [List.length_cons, List.length_drop]; omega)

/-! ## Block strings -/

/-- The raw text of a block string behind its opening quotes, and what follows its closing quotes;
none when it is not closed. Only the three quotes can be escaped. -/
def blockBody : List Char → Option (List Char × List Char)
  | [] => none
  | '"' :: '"' :: '"' :: rest => some ([], rest)
  | '\\' :: '"' :: '"' :: '"' :: rest =>
    (blockBody rest).map fun found => ('"' :: '"' :: '"' :: found.1, found.2)
  | c :: rest => (blockBody rest).map fun found => (c :: found.1, found.2)

/-- Puts a character in front of the first line. -/
def consToFirst (c : Char) : List (List Char) → List (List Char)
  | [] => [[c]]
  | line :: rest => (c :: line) :: rest

/-- The lines of a text; there is always one. -/
def splitLines : List Char → List (List Char)
  | [] => [[]]
  | '\r' :: '\n' :: rest => [] :: splitLines rest
  | '\r' :: rest => [] :: splitLines rest
  | '\n' :: rest => [] :: splitLines rest
  | c :: rest => consToFirst c (splitLines rest)

/-- Whether a character indents a line. -/
def isIndent (c : Char) : Bool := c == ' ' || c == '\t'

/-- Whether a line holds nothing but indentation. -/
def isBlankLine (line : List Char) : Bool := line.all isIndent

/-- The smallest indentation of the lines that are not blank. -/
def commonIndent (lines : List (List Char)) : Nat :=
  (((lines.filter fun line => !isBlankLine line).map fun line =>
    (line.takeWhile isIndent).length).min?).getD 0

/-- Joins lines with line feeds. -/
def joinLines : List (List Char) → List Char
  | [] => []
  | [line] => line
  | line :: rest => line ++ '\n' :: joinLines rest

/-- The value of a block string: the common indentation of all lines but the first is removed, and
blank lines at the start and at the end are dropped. -/
def dedent (raw : List Char) : List Char :=
  let lines := match splitLines raw with
    | [] => []
    | first :: rest => first :: rest.map (List.drop (commonIndent rest))
  joinLines (((lines.dropWhile isBlankLine).reverse.dropWhile isBlankLine).reverse)

/-! ## Tokens -/

/-- The punctuator of a single character. -/
def mark? : Char → Option Punctuator
  | '!' => some .bang
  | '$' => some .dollar
  | '&' => some .ampersand
  | '(' => some .parenOpen
  | ')' => some .parenClose
  | ':' => some .colon
  | '=' => some .equals
  | '@' => some .at
  | '[' => some .bracketOpen
  | ']' => some .bracketClose
  | '\x7b' => some .braceOpen
  | '|' => some .pipe
  | '\x7d' => some .braceClose
  | _ => none

/-- The token at the head of a text that starts with none of the ignored characters, the place
behind it and the text behind it. -/
def token (p : Place) (cs : List Char) : Step (Lexeme × Place × List Char) :=
  match cs with
  | [] => .ok (.endOfInput, p, [])
  | '.' :: '.' :: '.' :: rest => .ok (.punctuator .spread, p.right 3, rest)
  | '"' :: '"' :: '"' :: rest =>
    match blockBody rest with
    | some (raw, behind) =>
      let size := cs.length - behind.length
      .ok (.blockString (String.ofList (dedent raw)), p.after (cs.take size), behind)
    | none => refuse .unterminatedString (p.after cs)
  | '"' :: rest =>
    (stringBody (p.right 1) rest).map fun found =>
      (.string (String.ofList found.1), found.2)
  | '\'' :: _ => refuse .singleQuote p
  | c :: rest =>
    match mark? c with
    | some mark => .ok (.punctuator mark, p.right 1, rest)
    | none =>
      if c.isDigit || c == '-' then
        (number p cs).map fun found =>
          (found.1, p.right (cs.length - found.2.length), found.2)
      else if isNameStart c then
        let text := cs.takeWhile isNamePart
        .ok (.name (String.ofList text), p.right text.length, cs.drop text.length)
      else refuse (.unexpectedCharacter (some c)) p

/-- The tokens of a text from a place on. Each token uses up one step of the budget; the length of
the text and one more is always enough. -/
def tokens : (budget : Nat) → Place → List Char → Tokens
  | 0, p, _ => .last ⟨.endOfInput, p⟩
  | budget + 1, p, cs =>
    let start := skipIgnored false p cs
    match token start.1 start.2 with
    | .error e => .refused e
    | .ok (.endOfInput, _, _) => .last ⟨.endOfInput, start.1⟩
    | .ok (lexeme, p, rest) => .more ⟨lexeme, start.1⟩ (tokens budget p rest)

end Lexing

/-- The tokens of a text. -/
def Tokens.ofText (text : String) : Tokens :=
  let cs := text.toList
  Lexing.tokens (cs.length + 1) ⟨1, 1⟩ cs

/-- How many tokens there are. -/
def Tokens.count : Tokens → Nat
  | .last _ => 1
  | .more _ rest => rest.count + 1
  | .refused _ => 0

end QuerySchema.GraphQL
