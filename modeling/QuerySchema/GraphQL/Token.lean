/-!
Tokens of GraphQL text, and what is said about a text that is not GraphQL.

A syntax error has a cause and a place: the line and the column of a character or of a token, both
counted from one. `SyntaxError.message` gives the wording of every cause.
-/

namespace QuerySchema.GraphQL

/-- A place in the source. -/
structure Place where
  line : Nat
  column : Nat
  deriving DecidableEq, Repr

/-- The punctuators. -/
inductive Punctuator where
  | bang | dollar | ampersand | parenOpen | parenClose | spread | colon | equals | at
  | bracketOpen | bracketClose | braceOpen | pipe | braceClose
  deriving DecidableEq, Repr

/-- The spelling of a punctuator. -/
def Punctuator.text : Punctuator → String
  | .bang => "!"
  | .dollar => "$"
  | .ampersand => "&"
  | .parenOpen => "("
  | .parenClose => ")"
  | .spread => "..."
  | .colon => ":"
  | .equals => "="
  | .at => "@"
  | .bracketOpen => "["
  | .bracketClose => "]"
  | .braceOpen => "\x7b"
  | .pipe => "|"
  | .braceClose => "\x7d"

/-- What a token is. Strings hold their value, numbers their text. -/
inductive Lexeme where
  | endOfInput
  | punctuator (mark : Punctuator)
  | name (text : String)
  | int (text : String)
  | float (text : String)
  | string (value : String)
  | blockString (value : String)
  deriving DecidableEq, Repr

/-- The text that a name, a number or a string stands for. -/
def Lexeme.value? : Lexeme → Option String
  | .name text | .int text | .float text | .string text | .blockString text => some text
  | _ => none

/-- A token inside a message. -/
def Lexeme.shown : Lexeme → String
  | .endOfInput => "<EOF>"
  | .punctuator mark => "'" ++ mark.text ++ "'"
  | .name text => "Name '" ++ text ++ "'"
  | .int text => "Int '" ++ text ++ "'"
  | .float text => "Float '" ++ text ++ "'"
  | .string value => "String '" ++ value ++ "'"
  | .blockString value => "BlockString '" ++ value ++ "'"

/-- A token and the place where it starts. -/
structure Token where
  lexeme : Lexeme
  place : Place
  deriving DecidableEq, Repr

/-- What the grammar asks for at one point. -/
inductive Expectation where
  | name
  | punctuator (mark : Punctuator)
  | keyword (word : String)
  deriving DecidableEq, Repr

/-- The wording of an expectation. -/
def Expectation.text : Expectation → String
  | .name => "Name"
  | .punctuator mark => "'" ++ mark.text ++ "'"
  | .keyword word => "'" ++ word ++ "'"

/-- Why a text is not GraphQL. -/
inductive SyntaxError.Cause where
  | unexpectedCharacter (found : Option Char)
  | singleQuote
  | digitAfterZero (found : Option Char)
  | expectedDigit (found : Option Char)
  | unterminatedString
  | badEscape (text : String)
  | badUnicodeEscape (text : String)
  | expected (wanted : Expectation) (found : Lexeme)
  | unexpected (found : Lexeme)
  | variableInConstant (name : String)
  | reservedEnumValue (found : Lexeme)
  | describedShorthand
  | describedOther
  | nestedTooDeeply
  deriving DecidableEq, Repr

/-- The refusal of a text. -/
structure SyntaxError where
  cause : SyntaxError.Cause
  place : Place
  deriving DecidableEq, Repr

/-- A number in capital hexadecimal digits, at least four of them. -/
def codePointText (n : Nat) : String :=
  let digits := (Nat.toDigits 16 n).map Char.toUpper
  String.ofList (List.replicate (4 - digits.length) '0' ++ digits)

/-- A character inside a message: printable ASCII between quotes, any other by its number. -/
def shownChar : Option Char → String
  | none => "<EOF>"
  | some c =>
    if 0x20 ≤ c.toNat && c.toNat ≤ 0x7E then "'" ++ String.singleton c ++ "'"
    else "U+" ++ codePointText c.toNat

namespace SyntaxError

/-- The wording of a cause. -/
def Cause.text : Cause → String
  | .unexpectedCharacter found => "Unexpected character: " ++ shownChar found ++ "."
  | .singleQuote =>
    "Unexpected single quote character ('), did you mean to use a double quote (\")?"
  | .digitAfterZero found =>
    "Invalid number, unexpected digit after 0: " ++ shownChar found ++ "."
  | .expectedDigit found =>
    "Invalid number, expected digit but got: " ++ shownChar found ++ "."
  | .unterminatedString => "Unterminated string."
  | .badEscape text => "Invalid character escape sequence: '" ++ text ++ "'."
  | .badUnicodeEscape text => "Invalid Unicode escape sequence: '" ++ text ++ "'."
  | .expected wanted found => "Expected " ++ wanted.text ++ ", found " ++ found.shown ++ "."
  | .unexpected found => "Unexpected " ++ found.shown ++ "."
  | .variableInConstant name =>
    "Unexpected variable '$" ++ name ++ "' in constant value."
  | .reservedEnumValue found =>
    found.shown ++ " is reserved and cannot be used for an enum value."
  | .describedShorthand =>
    "Unexpected description, descriptions are not supported on shorthand queries."
  | .describedOther =>
    "Unexpected description, only GraphQL definitions support descriptions."
  | .nestedTooDeeply => "Document is nested too deeply. Parsing aborted."

/-- What is said about a refused text. -/
def message (e : SyntaxError) : String := "Syntax Error: " ++ e.cause.text

end SyntaxError

end QuerySchema.GraphQL
